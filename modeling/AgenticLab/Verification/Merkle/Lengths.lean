import Mathlib.Data.Nat.Size
import AgenticLab.Verification.Merkle.Consistency

/-! # The path lengths the consistency verifier accepts

The loop ends with the path and never asks whether the counters have reached zero. Which
lengths it lets through depends on the old size: a power of two starts both folds at the old
root, any other size takes the first path element for the seed. -/

namespace AgenticLab.TransparencyMerkle

variable {δ : Type*} (H : MerkleHash δ)

/-- Joining `count` valid left siblings to some valid hash leads back to this hash. -/
def SelfNested (count : ℕ) : Prop :=
  ∃ (hash : δ) (siblings : List δ), H.isValid hash = true ∧ (∀ c ∈ siblings, H.isValid c = true) ∧
    siblings.length = count ∧
    siblings.foldl (fun acc sibling => H.node sibling acc) hash = hash

variable {sn m n : ℕ}

theorem size_of_pos (h : sn ≠ 0) : sn.size = (sn / 2).size + 1 := by
  have hdecomp := Nat.bit_bodd_div2 sn
  have hsize := Nat.size_bit (b := sn.bodd) (n := sn.div2) (by rwa [hdecomp])
  rwa [hdecomp, Nat.div2_val] at hsize

/-- With `fn = 0` the hashes of the first levels join on the right of the new root alone; the
ones behind the last level join on the left of both roots. -/
theorem foldl_consistencyStep_zero (path : List δ) (sn : ℕ) (oldHash newHash : δ) :
    (path.foldl (consistencyStep H) ⟨0, sn, oldHash, newHash⟩).hashes =
      ((path.drop sn.size).foldl (fun acc sibling => H.node sibling acc) oldHash,
        (path.drop sn.size).foldl (fun acc sibling => H.node sibling acc)
          ((path.take sn.size).foldl H.node newHash)) := by
  induction path generalizing sn oldHash newHash with
  | nil => simp [ConsistencyCursor.hashes]
  | cons proofHash rest ih =>
    rw [List.foldl_cons]
    by_cases hsn : sn = 0
    · subst hsn
      have hstep : consistencyStep H ⟨0, 0, oldHash, newHash⟩ proofHash =
          ⟨0, 0, H.node proofHash oldHash, H.node proofHash newHash⟩ := by
        simp [consistencyStep, stripZeros]
      rw [hstep, ih]
      simp
    · have hstep : consistencyStep H ⟨0, sn, oldHash, newHash⟩ proofHash =
          ⟨0, sn / 2, oldHash, H.node newHash proofHash⟩ := by
        rw [consistencyStep, if_neg (by simp only; omega)]
        simp
      rw [hstep, ih, size_of_pos hsn, List.drop_succ_cons, List.take_succ_cons, List.foldl_cons]

theorem siblingPath_zero_length (leafHashes : List δ) (depth level : ℕ)
    (h : sn < 2 ^ depth) : (siblingPath H leafHashes depth level 0 sn).length = sn.size := by
  induction depth generalizing level sn with
  | zero =>
    obtain rfl : sn = 0 := by simpa using h
    simp [siblingPath]
  | succ depth ih =>
    rw [siblingPath, siblingAt, if_neg (by omega), List.length_append, Nat.zero_div,
      ih (level + 1) (by rw [pow_succ] at h; omega)]
    by_cases hsn : sn = 0
    · simp [hsn]
    · rw [if_pos (by omega), size_of_pos hsn, List.length_singleton, Nat.add_comm]

theorem foldl_consistencyStep_valid (path : List δ) (cursor : ConsistencyCursor δ)
    (hold : H.isValid cursor.oldHash = true) (hnew : H.isValid cursor.newHash = true) :
    H.isValid (path.foldl (consistencyStep H) cursor).oldHash = true ∧
      H.isValid (path.foldl (consistencyStep H) cursor).newHash = true := by
  induction path generalizing cursor with
  | nil => exact ⟨hold, hnew⟩
  | cons proofHash rest ih =>
    rw [List.foldl_cons]
    by_cases hside : cursor.fn % 2 = 1 ∨ cursor.fn = cursor.sn
    · exact ih _ (by simp [consistencyStep, hside, H.node_valid])
        (by simp [consistencyStep, hside, H.node_valid])
    · exact ih _ (by simp [consistencyStep, hside, hold])
        (by simp [consistencyStep, hside, H.node_valid])

/-! ## Accepted lengths -/

theorem stripOnes_isPowerOfTwo (hm : 1 ≤ m) :
    (stripOnes (m - 1) (n - 1)).1 = 0 ↔ m.isPowerOfTwo := by
  obtain ⟨level, hstrip, hdvd, hnot⟩ := stripOnes_spec (m - 1) (n - 1)
  rw [Nat.sub_add_cancel hm] at hdvd hnot
  have hend := sub_one_div_of_dvd (Nat.two_pow_pos level) hm hdvd
  rw [hstrip]
  refine ⟨fun hzero => ⟨level, ?_⟩, ?_⟩
  · rw [show (m - 1) / 2 ^ level = 0 from hzero, Nat.zero_add, Nat.one_mul] at hend
    exact hend.symm
  · rintro ⟨k, rfl⟩
    have hle : level ≤ k := (Nat.pow_dvd_pow_iff_le_right (by omega)).mp hdvd
    have hge : ¬level + 1 ≤ k := fun h => hnot (pow_dvd_pow 2 h)
    obtain rfl : level = k := by omega
    exact Nat.div_eq_of_lt (by have := Nat.two_pow_pos level; omega)

/-- For a power of two, the generated proof has one hash for each bit of the shifted new
size. -/
theorem consistencySubproof_length_of_isPowerOfTwo {leafHashes : List δ} (hm : 1 ≤ m)
    (hmn : m < leafHashes.length) (hpow : m.isPowerOfTwo) :
    (consistencySubproof H m leafHashes true).length =
      (stripOnes (m - 1) (leafHashes.length - 1)).2.size := by
  obtain ⟨level, hstrip, hdvd, hnot⟩ := stripOnes_spec (m - 1) (leafHashes.length - 1)
  have hzero := (stripOnes_isPowerOfTwo (n := leafHashes.length) hm).mpr hpow
  rw [Nat.sub_add_cancel hm] at hdvd hnot
  obtain ⟨depth, htop⟩ := exists_level_bound level leafHashes.length
  rw [hstrip] at hzero
  rw [consistencySubproof_eq H leafHashes hm hmn hdvd hnot htop, hstrip]
  simp only at hzero ⊢
  rw [hzero, if_pos rfl, List.nil_append]
  refine siblingPath_zero_length H leafHashes depth level ?_
  rw [Nat.div_lt_iff_lt_mul (Nat.two_pow_pos level), ← pow_add, Nat.add_comm depth]
  omega

theorem exists_leafHashes_of_generateConsistencyPath (hmn : m < n)
    {entryHashes proof : List δ} (h : generateConsistencyPath H entryHashes m n = .ok proof) :
    ∃ leafHashes : List δ, leafHashes.length = n ∧ consistencySubproof H m leafHashes true = proof := by
  rw [generateConsistencyPath] at h
  by_cases hbounds : m < 1 ∨ n < m ∨ entryHashes.length < n
  · rw [if_pos hbounds] at h
    cases h
  · rw [if_neg hbounds, if_neg (by omega)] at h
    cases hleaves : (entryHashes.take n).mapM (calculateTransparencyLeafHash H) with
    | error failure =>
      rw [hleaves] at h
      cases h
    | ok leafHashes =>
      have hvalid := valid_of_mapM_calculateTransparencyLeafHash H hleaves
      rw [mapM_calculateTransparencyLeafHash H hvalid] at h
      injection h with h
      refine ⟨_, ?_, h⟩
      rw [List.length_map, List.length_take]
      omega

/-- The lengths below 257 that some accepted path has, next to the generated one: for a power
of two the shorter lengths, and the longer ones over a self-nested hash; for any other size
every positive length. -/
def ExtraLength (m generated length : ℕ) : Prop :=
  if m.isPowerOfTwo then
    length < generated ∨ generated < length ∧ SelfNested H (length - generated)
  else 0 < length

section

variable [DecidableEq δ] {H} {m n : ℕ}

theorem lt_or_selfNested_of_verify (hm : 1 ≤ m) (hmn : m < n) (hpow : m.isPowerOfTwo)
    {oldRoot newRoot : δ} {path : List δ}
    (hverify : verifyConsistencyPath H m n oldRoot newRoot path = true) :
    path.length ≤ (stripOnes (m - 1) (n - 1)).2.size ∨
      SelfNested H (path.length - (stripOnes (m - 1) (n - 1)).2.size) := by
  obtain ⟨hold, -, -, hpath, seed, rest, hseed, hfold⟩ :=
    (verifyConsistencyPath_iff H hm hmn oldRoot newRoot path).mp hverify
  have hzero := (stripOnes_isPowerOfTwo (n := n) hm).mpr hpow
  rw [hzero, consistencySeed.eq_def, if_pos rfl] at hseed
  obtain ⟨rfl, rfl⟩ : oldRoot = seed ∧ path = rest := by simpa using hseed
  rw [hzero, foldl_consistencyStep_zero] at hfold
  refine or_iff_not_imp_left.mpr fun hlong => ⟨oldRoot, _, hold, ?_, ?_, congrArg Prod.fst hfold⟩
  · exact fun c hc => hpath c (List.mem_of_mem_drop hc)
  · exact List.length_drop

variable {length : ℕ}

theorem exists_accepted_of_isPowerOfTwo (hm : 1 ≤ m) (hmn : m < n)
    (hpow : m.isPowerOfTwo) (hlen : length ≤ maxTransparencyProofHashes)
    (hextra : ExtraLength H m (stripOnes (m - 1) (n - 1)).2.size length) :
    ∃ oldRoot newRoot path, path.length = length ∧
      verifyConsistencyPath H m n oldRoot newRoot path = true := by
  have hzero := (stripOnes_isPowerOfTwo (n := n) hm).mpr hpow
  have hempty := H.leaf_valid H.empty
  generalize hsize : (stripOnes (m - 1) (n - 1)).2.size = generated at hextra
  -- a path whose tail behind the last level leads the old root back to itself
  obtain ⟨oldRoot, path, hold, hpath, hlength, hback⟩ : ∃ (oldRoot : δ) (path : List δ),
      H.isValid oldRoot = true ∧ (∀ x ∈ path, H.isValid x = true) ∧ path.length = length ∧
        (path.drop generated).foldl (fun acc sibling => H.node sibling acc) oldRoot = oldRoot := by
    rw [ExtraLength, if_pos hpow] at hextra
    rcases hextra with hshort | ⟨hlong, hash, siblings, hhash, hsiblings, hcount, hnested⟩
    · refine ⟨H.leaf H.empty, List.replicate length (H.leaf H.empty), hempty, ?_,
        List.length_replicate, ?_⟩
      · intro x hx
        rw [List.eq_of_mem_replicate hx]
        exact hempty
      · rw [List.drop_eq_nil_of_le (by rw [List.length_replicate]; omega), List.foldl_nil]
    · refine ⟨hash, List.replicate generated (H.leaf H.empty) ++ siblings, hhash, ?_, ?_, ?_⟩
      · intro x hx
        rcases List.mem_append.mp hx with hx | hx
        · rw [List.eq_of_mem_replicate hx]
          exact hempty
        · exact hsiblings x hx
      · rw [List.length_append, List.length_replicate]
        omega
      · rw [List.drop_left' List.length_replicate, hnested]
  have hvalid := foldl_consistencyStep_valid H path
    ⟨0, (stripOnes (m - 1) (n - 1)).2, oldRoot, oldRoot⟩ hold hold
  refine ⟨oldRoot, _, path, hlength, (verifyConsistencyPath_iff H hm hmn oldRoot _ path).mpr
    ⟨hold, hvalid.2, by omega, hpath, oldRoot, path, ?_, ?_⟩⟩
  · rw [hzero, consistencySeed.eq_def, if_pos rfl]
  · rw [hzero]
    refine Prod.ext ?_ rfl
    rw [foldl_consistencyStep_zero, hsize]
    exact hback

theorem exists_accepted_of_not_isPowerOfTwo (hm : 1 ≤ m) (hmn : m < n) (hpow : ¬m.isPowerOfTwo)
    (hpos : 0 < length) (hlen : length ≤ maxTransparencyProofHashes) :
    ∃ oldRoot newRoot path, path.length = length ∧
      verifyConsistencyPath H m n oldRoot newRoot path = true := by
  have hempty := H.leaf_valid H.empty
  have hne : (stripOnes (m - 1) (n - 1)).1 ≠ 0 := fun h =>
    hpow ((stripOnes_isPowerOfTwo (n := n) hm).mp h)
  have hvalid := foldl_consistencyStep_valid H (List.replicate (length - 1) (H.leaf H.empty))
    ⟨(stripOnes (m - 1) (n - 1)).1, (stripOnes (m - 1) (n - 1)).2, H.leaf H.empty,
      H.leaf H.empty⟩ hempty hempty
  have hlength : (H.leaf H.empty :: List.replicate (length - 1) (H.leaf H.empty)).length =
      length := by
    rw [List.length_cons, List.length_replicate]
    omega
  -- both roots are what the folds over the seed give
  refine ⟨_, _, H.leaf H.empty :: List.replicate (length - 1) (H.leaf H.empty), hlength,
    (verifyConsistencyPath_iff H hm hmn _ _ _).mpr ⟨hvalid.1, hvalid.2, by omega, ?_,
      H.leaf H.empty, List.replicate (length - 1) (H.leaf H.empty), ?_, rfl⟩⟩
  · intro x hx
    rw [← List.replicate_succ] at hx
    rw [List.eq_of_mem_replicate hx]
    exact hempty
  · rw [consistencySeed.eq_def, if_neg hne]

theorem verifyConsistencyPath_nil (hm : 1 ≤ m) (hmn : m < n) (hpow : ¬m.isPowerOfTwo)
    (oldRoot newRoot : δ) : verifyConsistencyPath H m n oldRoot newRoot [] = false := by
  rw [Bool.eq_false_iff]
  intro hverify
  obtain ⟨-, -, -, -, seed, rest, hseed, -⟩ :=
    (verifyConsistencyPath_iff H hm hmn oldRoot newRoot []).mp hverify
  rw [consistencySeed.eq_def,
    if_neg (fun h => hpow ((stripOnes_isPowerOfTwo (n := n) hm).mp h))] at hseed
  simp at hseed

/-- When acceptance of a path of some length implies the generated length: when the length is
the generated one, exceeds the bound, or is none of the extra lengths of the old size. -/
theorem verifyConsistencyPath_length_iff {m n : ℕ} (hm : 1 ≤ m) (hmn : m < n)
    (entryHashes proof : List δ) (hproof : generateConsistencyPath H entryHashes m n = .ok proof)
    (length : ℕ) :
    (∀ oldRoot newRoot path, path.length = length →
        verifyConsistencyPath H m n oldRoot newRoot path = true → path.length = proof.length) ↔
      length = proof.length ∨ maxTransparencyProofHashes < length ∨
        ¬ExtraLength H m proof.length length := by
  obtain ⟨leafHashes, hleafHashes, rfl⟩ := exists_leafHashes_of_generateConsistencyPath H hmn hproof
  have hgenerated : m.isPowerOfTwo → (consistencySubproof H m leafHashes true).length =
      (stripOnes (m - 1) (n - 1)).2.size := by
    intro hpow
    rw [← hleafHashes]
    exact consistencySubproof_length_of_isPowerOfTwo H hm (by omega) hpow
  generalize (consistencySubproof H m leafHashes true).length = generated at hgenerated
  constructor
  · intro hall
    by_contra hcond
    push Not at hcond
    obtain ⟨hne, hlen, hextra⟩ := hcond
    obtain ⟨oldRoot, newRoot, path, hlength, hverify⟩ : ∃ oldRoot newRoot path,
        path.length = length ∧ verifyConsistencyPath H m n oldRoot newRoot path = true := by
      by_cases hpow : m.isPowerOfTwo
      · exact exists_accepted_of_isPowerOfTwo hm hmn hpow hlen (hgenerated hpow ▸ hextra)
      · rw [ExtraLength, if_neg hpow] at hextra
        exact exists_accepted_of_not_isPowerOfTwo hm hmn hpow hextra hlen
    exact hne (hlength ▸ hall oldRoot newRoot path hlength hverify)
  · rintro (hsame | hlong | hextra) oldRoot newRoot path hlength hverify
    · rw [hlength, hsame]
    · have hbound := ((verifyConsistencyPath_iff H hm hmn oldRoot newRoot path).mp hverify).2.2.1
      omega
    · by_cases hpow : m.isPowerOfTwo
      · rw [ExtraLength, if_pos hpow] at hextra
        push Not at hextra
        have hnested := lt_or_selfNested_of_verify hm hmn hpow hverify
        rw [← hgenerated hpow, hlength] at hnested
        rcases hnested with hle | hself
        · omega
        · by_contra hne
          exact hextra.2 (by omega) hself
      · rw [ExtraLength, if_neg hpow] at hextra
        obtain rfl : path = [] := List.length_eq_zero_iff.mp (by omega)
        rw [verifyConsistencyPath_nil hm hmn hpow] at hverify
        simp at hverify

omit [DecidableEq δ] in
theorem generateConsistencyPath_one_two (first second : δ) (hfirst : H.isValid first = true)
    (hsecond : H.isValid second = true) :
    generateConsistencyPath H [first, second] 1 2 = .ok [H.leaf second] := by
  have hsplit : largestPowerOfTwoLessThan 2 = 1 := by decide
  have hvalid : ∀ e ∈ [first, second].take 2, H.isValid e = true := by simp [hfirst, hsecond]
  rw [generateConsistencyPath_eq H hvalid (by decide) (by decide) (by simp)]
  simp [hsplit, consistencySubproof]

theorem sha256Merkle_isValid (message : List UInt8) :
    (sha256MerkleHash hashlibSha256).isValid (hashlibSha256.hexdigest message) = true := by
  simp [sha256MerkleHash, hashlibSha256.hexdigest_valid]

theorem verifyConsistencyPath_length_iff_one_two :
    (∀ oldRoot newRoot path, path.length = 1 →
        verifyConsistencyPath (sha256MerkleHash hashlibSha256) 1 2 oldRoot newRoot path = true →
          path.length = 1) ↔
      1 = 1 ∨ maxTransparencyProofHashes < 1 ∨
        ¬ExtraLength (sha256MerkleHash hashlibSha256) 1 1 1 :=
  verifyConsistencyPath_length_iff (H := sha256MerkleHash hashlibSha256) (m := 1) (n := 2)
    (by decide) (by decide) [hashlibSha256.hexdigest [1], hashlibSha256.hexdigest [2]]
    [(sha256MerkleHash hashlibSha256).leaf (hashlibSha256.hexdigest [2])]
    (generateConsistencyPath_one_two _ _ (sha256Merkle_isValid _) (sha256Merkle_isValid _)) 1

/-- The verifier accepts the empty path from one entry to two entries, for equal roots, where
the generated proof has one hash. -/
theorem verifyConsistencyPath_accepts_nil :
    verifyConsistencyPath (sha256MerkleHash hashlibSha256) 1 2 (hashlibSha256.hexdigest [1])
        (hashlibSha256.hexdigest [1]) [] = true ∧
      generateConsistencyPath (sha256MerkleHash hashlibSha256)
          [hashlibSha256.hexdigest [1], hashlibSha256.hexdigest [2]] 1 2 =
        .ok [(sha256MerkleHash hashlibSha256).leaf (hashlibSha256.hexdigest [2])] := by
  have hzero : stripOnes 0 1 = (0, 1) := by simp [stripOnes]
  have hvalid := sha256Merkle_isValid [1]
  constructor
  · rw [verifyConsistencyPath_iff _ (by decide) (by decide)]
    refine ⟨hvalid, hvalid, by decide, by simp, hashlibSha256.hexdigest [1], [], ?_, ?_⟩
    · rw [hzero]
      rfl
    · rw [hzero]
      rfl
  · exact generateConsistencyPath_one_two _ _ hvalid (sha256Merkle_isValid [2])

end

end AgenticLab.TransparencyMerkle

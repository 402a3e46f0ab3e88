import AgenticLab.Verification.Merkle.Levels

/-! # Completeness of consistency proofs

The verifier walks the bits of `m - 1` and `n - 1` upwards, the generator splits the leaves
downwards. Both describe the siblings above one node of the new tree: the largest complete
subtree that ends with leaf `m - 1`. -/

namespace AgenticLab.TransparencyMerkle

variable {δ : Type*} (H : MerkleHash δ)

theorem stripOnes_spec (fn sn : ℕ) :
    ∃ k, stripOnes fn sn = (fn / 2 ^ k, sn / 2 ^ k) ∧ 2 ^ k ∣ fn + 1 ∧ ¬2 ^ (k + 1) ∣ fn + 1 := by
  fun_induction stripOnes fn sn with
  | case1 fn sn hodd ih =>
    obtain ⟨k, hres, hdvd, hnot⟩ := ih
    have hhalf : fn + 1 = 2 * (fn / 2 + 1) := by omega
    refine ⟨k + 1, ?_, ?_, ?_⟩
    · rw [hres, Nat.div_div_eq_div_mul, Nat.div_div_eq_div_mul, ← pow_succ']
    · rw [hhalf, pow_succ']
      exact Nat.mul_dvd_mul_left 2 hdvd
    · rw [hhalf, pow_succ']
      intro h
      exact hnot (Nat.dvd_of_mul_dvd_mul_left (by omega) h)
  | case2 fn sn heven =>
    refine ⟨0, by simp, by simp, ?_⟩
    rw [zero_add, pow_one]
    omega

variable {fn : ℕ}

theorem stripZeros_of_odd (sn : ℕ) (h : fn % 2 = 1) : stripZeros fn sn = (fn, sn) := by
  rw [stripZeros, if_neg (by omega)]

theorem stripZeros_half (h : fn % 2 = 0) : stripZeros fn fn = stripZeros (fn / 2) (fn / 2) := by
  by_cases hzero : fn = 0
  · rw [hzero]
  · rw [stripZeros, if_pos ⟨hzero, h⟩]

variable {p m level n : ℕ}

theorem div_bounds {a q : ℕ} (hp : 0 < p) (h : a / p = q) : q * p ≤ a ∧ a < (q + 1) * p := by
  subst h
  exact ⟨Nat.div_mul_le_self a p, (Nat.div_lt_iff_lt_mul hp).mp (Nat.lt_succ_self _)⟩

def ConsistencyCursor.hashes (cursor : ConsistencyCursor δ) : δ × δ :=
  (cursor.oldHash, cursor.newHash)

/-- On the last node of a level an even counter may be halved before the next hash: the
loop would strip that zero itself. -/
theorem consistencyStep_half (h : fn % 2 = 0) (oldHash newHash proofHash : δ) :
    consistencyStep H ⟨fn, fn, oldHash, newHash⟩ proofHash =
      consistencyStep H ⟨fn / 2, fn / 2, oldHash, newHash⟩ proofHash := by
  simp only [consistencyStep, or_true, if_true]
  rw [stripZeros_half h]

theorem foldl_consistencyStep_half (h : fn % 2 = 0) (oldHash newHash : δ) (path : List δ) :
    (path.foldl (consistencyStep H) ⟨fn, fn, oldHash, newHash⟩).hashes =
      (path.foldl (consistencyStep H) ⟨fn / 2, fn / 2, oldHash, newHash⟩).hashes := by
  cases path with
  | nil => rfl
  | cons proofHash rest =>
    rw [List.foldl_cons, List.foldl_cons, consistencyStep_half H h]

/-- From the nodes above leaf `m - 1` in the old and in the new tree, the siblings of the
new tree lead the loop to both roots. -/
theorem foldl_consistencyStep_siblingPath (leafHashes : List δ) (hm : 1 ≤ m)
    (hmn : m ≤ leafHashes.length) (depth level : ℕ)
    (htop : leafHashes.length ≤ 2 ^ (level + depth)) :
    ((siblingPath H leafHashes depth level ((m - 1) / 2 ^ level)
        ((leafHashes.length - 1) / 2 ^ level)).foldl (consistencyStep H)
      ⟨(m - 1) / 2 ^ level, (leafHashes.length - 1) / 2 ^ level,
        levelHash H (leafHashes.take m) level ((m - 1) / 2 ^ level),
        levelHash H leafHashes level ((m - 1) / 2 ^ level)⟩).hashes =
      (merkleRootFromLeafHashes H (leafHashes.take m),
        merkleRootFromLeafHashes H leafHashes) := by
  have htake : (leafHashes.take m).length = m := by simpa using hmn
  induction depth generalizing level with
  | zero =>
    rw [Nat.add_zero] at htop
    have hzero : (m - 1) / 2 ^ level = 0 := Nat.div_eq_of_lt (by omega)
    rw [hzero]
    simp only [siblingPath, List.foldl_nil, ConsistencyCursor.hashes]
    rw [levelHash_top H htop, levelHash_top H (by omega)]
  | succ depth ih =>
    have hnext := ih (level + 1) (by rwa [Nat.add_right_comm, Nat.add_assoc])
    have hpos : 0 < 2 ^ level := Nat.two_pow_pos level
    rw [pow_succ, ← Nat.div_div_eq_div_mul, ← Nat.div_div_eq_div_mul] at hnext
    generalize hfn : (m - 1) / 2 ^ level = fn at *
    generalize hsn : (leafHashes.length - 1) / 2 ^ level = sn at *
    -- `fn` and `sn` are the nodes above the last old and the last new leaf
    obtain ⟨hfnlow, hfnhigh⟩ := div_bounds hpos hfn
    obtain ⟨hsnlow, hsnhigh⟩ := div_bounds hpos hsn
    have hle : fn ≤ sn := by
      rw [← hfn, ← hsn]; exact Nat.div_le_div_right (by omega)
    rw [siblingPath, siblingAt]
    by_cases hodd : fn % 2 = 1
    · -- a left sibling, complete in both trees
      obtain ⟨j, rfl⟩ : ∃ j, fn = 2 * j + 1 := ⟨fn / 2, by omega⟩
      have hhalf : (2 * j + 1) / 2 = j := by omega
      have hpair : (2 * j + 1) * 2 ^ level < (leafHashes.take m).length := by omega
      have hpair' : (2 * j + 1) * 2 ^ level < leafHashes.length := by omega
      have hleft : levelHash H (leafHashes.take m) level (2 * j) =
          levelHash H leafHashes level (2 * j) := levelHash_take H (by omega)
      rw [hhalf, levelHash_pair H _ hpair, levelHash_pair H _ hpair', hleft] at hnext
      rw [if_pos hodd, List.singleton_append, List.foldl_cons, consistencyStep,
        if_pos (Or.inl hodd)]
      simpa only [stripZeros_of_odd sn hodd, hhalf, Nat.add_sub_cancel] using hnext
    · obtain ⟨j, rfl⟩ : ∃ j, fn = 2 * j := ⟨fn / 2, by omega⟩
      have hhalf : 2 * j / 2 = j := by omega
      have hold : levelHash H (leafHashes.take m) (level + 1) j =
          levelHash H (leafHashes.take m) level (2 * j) := levelHash_last H _ (by omega)
      rw [hhalf, hold] at hnext
      rw [if_neg hodd]
      rcases Nat.lt_or_ge (2 * j) sn with hlt | hge
      · -- a right sibling, which only the new tree has
        have hnode : (2 * j + 1) * 2 ^ level ≤ sn * 2 ^ level :=
          Nat.mul_le_mul_right _ hlt
        rw [levelHash_pair H leafHashes (by omega)] at hnext
        rw [if_pos hlt, List.singleton_append, List.foldl_cons, consistencyStep,
          if_neg (by simp only; omega)]
        simpa only [hhalf] using hnext
      · -- the last node of the level: both trees keep it on the next level
        obtain rfl : sn = 2 * j := by omega
        rw [levelHash_last H leafHashes (by omega), hhalf] at hnext
        rw [if_neg (by omega), List.nil_append, foldl_consistencyStep_half H (by omega), hhalf]
        exact hnext

theorem sub_one_div_of_dvd (hp : 0 < p) (hm : 1 ≤ m) (h : p ∣ m) :
    ((m - 1) / p + 1) * p = m := by
  obtain ⟨c, rfl⟩ := h
  obtain ⟨d, rfl⟩ : ∃ d, c = d + 1 := ⟨c - 1, by cases c <;> simp_all⟩
  have hdiv : (p * (d + 1) - 1) / p = d := by
    rw [Nat.mul_succ, Nat.add_sub_assoc hp, Nat.mul_add_div hp,
      Nat.div_eq_of_lt (by omega), Nat.add_zero]
  rw [hdiv, Nat.mul_comm]

/-- One level down towards leaf `m - 1`, the recursion appends the sibling it leaves aside.
A node without right half is its own left half and leaves nothing aside. -/
theorem consistencySubproof_succ (leafHashes : List δ) {fn sn : ℕ} (hm : 1 ≤ m)
    (hmn : m < leafHashes.length) (hnot : ¬2 ^ (level + 1) ∣ m)
    (hfn : (m - 1) / 2 ^ level = fn) (hsn : (leafHashes.length - 1) / 2 ^ level = sn) :
    consistencySubproof H (m - fn / 2 * 2 ^ (level + 1))
        (levelSegment leafHashes (level + 1) (fn / 2)) (decide (fn / 2 = 0)) =
      consistencySubproof H (m - fn * 2 ^ level) (levelSegment leafHashes level fn)
          (decide (fn = 0)) ++
        siblingAt H leafHashes level fn sn := by
  have hpos : 0 < 2 ^ level := Nat.two_pow_pos level
  obtain ⟨hfnlow, hfnhigh⟩ := div_bounds hpos hfn
  obtain ⟨hsnlow, hsnhigh⟩ := div_bounds hpos hsn
  obtain ⟨j, hj⟩ : ∃ j, fn / 2 = j := ⟨_, rfl⟩
  have hcase : fn = 2 * j ∨ fn = 2 * j + 1 := by omega
  have hstart : j * 2 ^ (level + 1) = 2 * (j * 2 ^ level) := by ring
  have hleft : 2 * j * 2 ^ level = 2 * (j * 2 ^ level) := by ring
  have hright : (2 * j + 1) * 2 ^ level = 2 * (j * 2 ^ level) + 2 ^ level := by ring
  have hend : (2 * j + 1 + 1) * 2 ^ level = 2 * (j * 2 ^ level) + 2 * 2 ^ level := by ring
  have hsize : 2 ^ (level + 1) = 2 * 2 ^ level := by ring
  have hseg := levelSegment_length leafHashes (level + 1) j
  have hhalf := levelSegment_length leafHashes level (2 * j)
  have hbounds : 2 * (j * 2 ^ level) ≤ m - 1 ∧ m - 1 < 2 * (j * 2 ^ level) + 2 * 2 ^ level := by
    rcases hcase with rfl | rfl <;> omega
  have hnotEnd : m ≠ 2 * (j * 2 ^ level) + 2 * 2 ^ level := by
    intro heq
    exact hnot ⟨j + 1, by rw [heq]; ring⟩
  rw [hj]
  rcases Nat.lt_or_ge ((2 * j + 1) * 2 ^ level) leafHashes.length with hpair | hlast
  · have hne : m - j * 2 ^ (level + 1) ≠ (levelSegment leafHashes (level + 1) j).length := by
      omega
    have hsplit :
        largestPowerOfTwoLessThan (levelSegment leafHashes (level + 1) j).length = 2 ^ level :=
      largestPowerOfTwoLessThan_eq (by omega) (by omega)
    have hnode : 2 * j + 1 ≤ sn := by
      by_contra hlt
      have := Nat.mul_le_mul_right (2 ^ level) (show sn + 1 ≤ 2 * j + 1 by omega)
      omega
    rw [consistencySubproof, if_neg hne, dif_neg (by omega)]
    simp only [hsplit]
    rw [levelSegment_succ, List.take_left' (by omega), List.drop_left' (by omega)]
    rcases hcase with rfl | rfl
    · rw [if_pos (by omega), siblingAt, if_neg (by omega), if_pos (by omega), hstart, hleft]
      simp [levelHash]
    · have harg : m - j * 2 ^ (level + 1) - 2 ^ level = m - (2 * j + 1) * 2 ^ level := by omega
      rw [if_neg (by omega), siblingAt, if_pos (by omega), harg]
      simp [levelHash]
  · obtain rfl : fn = 2 * j := by
      rcases hcase with rfl | rfl
      · rfl
      · omega
    have hlt : ¬2 * j < sn := by
      intro hlt
      have := Nat.mul_le_mul_right (2 ^ level) (show 2 * j + 1 ≤ sn by omega)
      omega
    rw [levelSegment_last hlast, siblingAt, if_neg (by omega), if_neg hlt, hstart, hleft]
    simp

/-- The recursion on the node above leaf `m - 1` lists the siblings from the largest complete
subtree that ends with that leaf, after the hash of this subtree if it has a left sibling. -/
theorem consistencySubproof_levelSegment (leafHashes : List δ) (hm : 1 ≤ m)
    (hmn : m < leafHashes.length) (hdvd : 2 ^ level ∣ m) (hnot : ¬2 ^ (level + 1) ∣ m) (depth : ℕ) :
    consistencySubproof H (m - (m - 1) / 2 ^ (level + depth) * 2 ^ (level + depth))
        (levelSegment leafHashes (level + depth) ((m - 1) / 2 ^ (level + depth)))
        (decide ((m - 1) / 2 ^ (level + depth) = 0)) =
      (if (m - 1) / 2 ^ level = 0 then []
        else [levelHash H leafHashes level ((m - 1) / 2 ^ level)]) ++
        siblingPath H leafHashes depth level ((m - 1) / 2 ^ level)
          ((leafHashes.length - 1) / 2 ^ level) := by
  induction depth with
  | zero =>
    have hend := sub_one_div_of_dvd (Nat.two_pow_pos level) hm hdvd
    rw [Nat.add_mul, Nat.one_mul] at hend
    rw [Nat.add_zero]
    generalize (m - 1) / 2 ^ level = fn at *
    have hseg := levelSegment_length leafHashes level fn
    rw [consistencySubproof, if_pos (by omega)]
    by_cases hzero : fn = 0 <;> simp [hzero, siblingPath, levelHash]
  | succ depth ih =>
    have hnot' : ¬2 ^ (level + depth + 1) ∣ m := fun h =>
      hnot ((pow_dvd_pow 2 (by omega)).trans h)
    have hstep := consistencySubproof_succ H leafHashes hm hmn hnot' rfl rfl
    rw [Nat.div_div_eq_div_mul, ← pow_succ] at hstep
    rw [siblingPath_succ_last, ← List.append_assoc, ← ih, Nat.div_div_eq_div_mul,
      Nat.div_div_eq_div_mul, ← pow_add]
    exact hstep

theorem consistencySubproof_eq (leafHashes : List δ) {depth : ℕ} (hm : 1 ≤ m)
    (hmn : m < leafHashes.length) (hdvd : 2 ^ level ∣ m) (hnot : ¬2 ^ (level + 1) ∣ m)
    (htop : leafHashes.length ≤ 2 ^ (level + depth)) :
    consistencySubproof H m leafHashes true =
      (if (m - 1) / 2 ^ level = 0 then []
        else [levelHash H leafHashes level ((m - 1) / 2 ^ level)]) ++
        siblingPath H leafHashes depth level ((m - 1) / 2 ^ level)
          ((leafHashes.length - 1) / 2 ^ level) := by
  have hzero : (m - 1) / 2 ^ (level + depth) = 0 := Nat.div_eq_of_lt (by omega)
  have hseg : levelSegment leafHashes (level + depth) 0 = leafHashes := by
    rw [levelSegment, Nat.zero_mul, List.drop_zero, List.take_of_length_le htop]
  have h := consistencySubproof_levelSegment H leafHashes hm hmn hdvd hnot depth
  simpa only [hzero, hseg, Nat.zero_mul, Nat.sub_zero, decide_true] using h

variable {leafHashes : List δ}

theorem consistencySubproof_valid {size : ℕ} (completeSubtree : Bool) (hlow : 1 ≤ size)
    (hhigh : size ≤ leafHashes.length) (h : ∀ x ∈ leafHashes, H.isValid x = true) :
    ∀ x ∈ consistencySubproof H size leafHashes completeSubtree, H.isValid x = true := by
  fun_induction consistencySubproof H size leafHashes completeSubtree with
  | case1 => simp
  | case2 size leafHashes =>
    intro x hx
    rw [List.mem_singleton.mp hx]
    exact merkleRootFromLeafHashes_valid H (List.ne_nil_of_length_pos (by omega)) h
  | case3 => simp
  | case4 size leafHashes completeSubtree hne hlen split hle ih =>
    have hlt := largestPowerOfTwoLessThan_lt leafHashes.length (by omega)
    intro x hx
    rcases List.mem_append.mp hx with hx | hx
    · refine ih hlow ?_ (fun y hy => h y (List.mem_of_mem_take hy)) x hx
      rw [List.length_take]
      omega
    · rw [List.mem_singleton.mp hx]
      refine merkleRootFromLeafHashes_valid H (List.ne_nil_of_length_pos ?_)
        (fun y hy => h y (List.mem_of_mem_drop hy))
      rw [List.length_drop]
      omega
  | case5 size leafHashes completeSubtree hne hlen split hle ih =>
    have hlt := largestPowerOfTwoLessThan_lt leafHashes.length (by omega)
    have hpos := largestPowerOfTwoLessThan_pos leafHashes.length
    intro x hx
    rcases List.mem_append.mp hx with hx | hx
    · refine ih (by omega) ?_ (fun y hy => h y (List.mem_of_mem_drop hy)) x hx
      rw [List.length_drop]
      omega
    · rw [List.mem_singleton.mp hx]
      refine merkleRootFromLeafHashes_valid H (List.ne_nil_of_length_pos ?_)
        (fun y hy => h y (List.mem_of_mem_take hy))
      rw [List.length_take]
      omega

/-! ## Acceptance of generated proofs -/

theorem verifyConsistencyPath_iff [DecidableEq δ] (hm : 1 ≤ m) (hmn : m < n)
    (oldRootHash newRootHash : δ) (path : List δ) :
    verifyConsistencyPath H m n oldRootHash newRootHash path = true ↔
      H.isValid oldRootHash = true ∧ H.isValid newRootHash = true ∧
        path.length ≤ maxTransparencyProofHashes ∧ (∀ x ∈ path, H.isValid x = true) ∧
        ∃ seed rest,
          consistencySeed (stripOnes (m - 1) (n - 1)).1 oldRootHash path = some (seed, rest) ∧
            (rest.foldl (consistencyStep H) ⟨(stripOnes (m - 1) (n - 1)).1,
              (stripOnes (m - 1) (n - 1)).2, seed, seed⟩).hashes = (oldRootHash, newRootHash) := by
  rw [verifyConsistencyPath, if_neg (by omega)]
  by_cases hroots : H.isValid oldRootHash = true ∧ H.isValid newRootHash = true
  · obtain ⟨hold, hnew⟩ := hroots
    simp only [hold, hnew, Bool.not_true, Bool.or_self, Bool.false_eq_true, if_false, true_and]
    by_cases hpath : path.length ≤ maxTransparencyProofHashes ∧ ∀ x ∈ path, H.isValid x = true
    · obtain ⟨hlen, hall⟩ := hpath
      have hany : path.any (fun item => !H.isValid item) = false := by
        simpa using hall
      rw [if_neg (by simp [hany]; omega), if_neg (by omega)]
      cases hseed : consistencySeed (stripOnes (m - 1) (n - 1)).1 oldRootHash path with
      | none => simp
      | some pair =>
        obtain ⟨seed, rest⟩ := pair
        simp [hlen, ConsistencyCursor.hashes, Prod.ext_iff]
        tauto
    · rw [if_pos]
      · simp only [Bool.false_eq_true, false_iff]
        tauto
      · simp only [List.any_eq_true, Bool.not_eq_true']
        by_contra hno
        push Not at hno
        exact hpath ⟨by omega, fun x hx => by simpa using hno.2 x hx⟩
  · rw [if_pos]
    · simp only [Bool.false_eq_true, false_iff]
      tauto
    · cases hold : H.isValid oldRootHash <;> cases hnew : H.isValid newRootHash <;> simp_all

theorem exists_level_bound (level n : ℕ) : ∃ depth, n ≤ 2 ^ (level + depth) :=
  ⟨n, (Nat.lt_two_pow_self (n := n)).le.trans (Nat.pow_le_pow_right (by omega) (by omega))⟩

theorem verifyConsistencyPath_consistencySubproof [DecidableEq δ]
    (h : ∀ x ∈ leafHashes, H.isValid x = true) (hm : 1 ≤ m) (hmn : m < leafHashes.length)
    (hlen : (consistencySubproof H m leafHashes true).length ≤ maxTransparencyProofHashes) :
    verifyConsistencyPath H m leafHashes.length
      (merkleRootFromLeafHashes H (leafHashes.take m)) (merkleRootFromLeafHashes H leafHashes)
      (consistencySubproof H m leafHashes true) = true := by
  obtain ⟨level, hstrip, hdvd, hnot⟩ := stripOnes_spec (m - 1) (leafHashes.length - 1)
  rw [Nat.sub_add_cancel hm] at hdvd hnot
  obtain ⟨depth, htop⟩ := exists_level_bound level leafHashes.length
  have hpath := consistencySubproof_eq H leafHashes hm hmn hdvd hnot htop
  have hfold := foldl_consistencyStep_siblingPath H leafHashes hm hmn.le depth level htop
  have hend := sub_one_div_of_dvd (Nat.two_pow_pos level) hm hdvd
  have hold : levelHash H (leafHashes.take m) level ((m - 1) / 2 ^ level) =
      levelHash H leafHashes level ((m - 1) / 2 ^ level) := levelHash_take H hend.le
  rw [verifyConsistencyPath_iff H hm hmn]
  refine ⟨?_, ?_, hlen, consistencySubproof_valid H true hm hmn.le h, ?_⟩
  · refine merkleRootFromLeafHashes_valid H (List.ne_nil_of_length_pos ?_)
      (fun x hx => h x (List.mem_of_mem_take hx))
    rw [List.length_take]
    omega
  · exact merkleRootFromLeafHashes_valid H (List.ne_nil_of_length_pos (by omega)) h
  · refine ⟨levelHash H leafHashes level ((m - 1) / 2 ^ level), _, ?_,
      by rw [hstrip]; simpa only [hold] using hfold⟩
    rw [hstrip, hpath]
    unfold consistencySeed
    by_cases hzero : (m - 1) / 2 ^ level = 0
    · -- the old tree is itself the complete subtree
      have htake : (leafHashes.take m).length ≤ 2 ^ level := by
        rw [hzero] at hend
        rw [List.length_take]
        omega
      have hroot := levelHash_top H htake
      rw [hzero] at hold
      simp only [hzero, if_true, List.nil_append, ← hroot, hold]
    · simp only [hzero, if_false, List.singleton_append]

/-- Generated consistency proofs are accepted, for every pair of tree sizes: the roots of the
first `m` and of the first `n` entries exist, so does the proof, and the verifier returns
`True` on them whenever the proof keeps the bound on its number of hashes. -/
theorem generateConsistencyPath_eq {entryHashes : List δ}
    (hvalid : ∀ e ∈ entryHashes.take n, H.isValid e = true) (hm : 1 ≤ m) (hmn : m < n)
    (hn : n ≤ entryHashes.length) : generateConsistencyPath H entryHashes m n =
      .ok (consistencySubproof H m ((entryHashes.take n).map H.leaf) true) := by
  rw [generateConsistencyPath, if_neg (by omega), if_neg (by omega),
    mapM_calculateTransparencyLeafHash H hvalid]
  rfl

theorem verifyConsistencyPath_generateConsistencyPath [DecidableEq δ] (entryHashes : List δ)
    (hvalid : ∀ e ∈ entryHashes, H.isValid e = true) {m n : ℕ} (hm : 1 ≤ m) (hmn : m ≤ n)
    (hn : n ≤ entryHashes.length) :
    ∃ oldRoot newRoot path,
      calculateTransparencyMerkleRoot H (entryHashes.take m) = .ok oldRoot ∧
        calculateTransparencyMerkleRoot H (entryHashes.take n) = .ok newRoot ∧
        generateConsistencyPath H entryHashes m n = .ok path ∧
        (path.length ≤ maxTransparencyProofHashes →
          verifyConsistencyPath H m n oldRoot newRoot path = true) := by
  have htake : ∀ k, ∀ e ∈ entryHashes.take k, H.isValid e = true :=
    fun k e he => hvalid e (List.mem_of_mem_take he)
  have hne : ∀ k, 1 ≤ k → entryHashes.take k ≠ [] := fun k hk =>
    List.ne_nil_of_length_pos (by rw [List.length_take]; omega)
  have hleaves : ∀ x ∈ (entryHashes.take n).map H.leaf, H.isValid x = true := by
    intro x hx
    obtain ⟨e, -, rfl⟩ := List.mem_map.mp hx
    exact H.leaf_valid e
  have hroots : ∀ k, 1 ≤ k → calculateTransparencyMerkleRoot H (entryHashes.take k) =
      .ok (merkleRootFromLeafHashes H ((entryHashes.take k).map H.leaf)) :=
    fun k hk => calculateTransparencyMerkleRoot_eq H (hne k hk) (htake k)
  rcases Nat.eq_or_lt_of_le hmn with rfl | hlt
  · refine ⟨_, _, [], hroots m hm, hroots m hm, ?_, ?_⟩
    · rw [generateConsistencyPath, if_neg (by omega), if_pos rfl]
      rfl
    · intro _
      have hroot := merkleRootFromLeafHashes_valid H (by simpa using hne m hm) hleaves
      generalize merkleRootFromLeafHashes H _ = root at hroot
      rw [verifyConsistencyPath, if_neg (by omega), if_neg (by simp [hroot]), if_neg (by simp),
        if_pos rfl]
      simp
  · have hlength : ((entryHashes.take n).map H.leaf).length = n := by
      rw [List.length_map, List.length_take, Nat.min_eq_left hn]
    have hold : (entryHashes.take m).map H.leaf = ((entryHashes.take n).map H.leaf).take m := by
      rw [← List.map_take, List.take_take, Nat.min_eq_left hmn]
    refine ⟨_, _, consistencySubproof H m ((entryHashes.take n).map H.leaf) true, hroots m hm,
      hroots n (by omega), ?_, ?_⟩
    · exact generateConsistencyPath_eq H (htake n) hm hlt hn
    · intro hlen
      have h := verifyConsistencyPath_consistencySubproof H hleaves hm (by omega) hlen
      rwa [hlength, ← hold] at h

theorem consistencySubproof_two_three (first second third : δ) :
    consistencySubproof H 2 [first, second, third] true = [third] := by
  have hsplit : largestPowerOfTwoLessThan 3 = 2 := by decide
  rw [consistencySubproof]
  simp [hsplit, consistencySubproof]

theorem verifyConsistencyPath_generateConsistencyPath_two_three :
    ∃ oldRoot newRoot path,
      calculateTransparencyMerkleRoot (sha256MerkleHash hashlibSha256)
          [hashlibSha256.hexdigest [1], hashlibSha256.hexdigest [2]] = .ok oldRoot ∧
        calculateTransparencyMerkleRoot (sha256MerkleHash hashlibSha256)
          [hashlibSha256.hexdigest [1], hashlibSha256.hexdigest [2],
            hashlibSha256.hexdigest [3]] = .ok newRoot ∧
        generateConsistencyPath (sha256MerkleHash hashlibSha256)
          [hashlibSha256.hexdigest [1], hashlibSha256.hexdigest [2],
            hashlibSha256.hexdigest [3]] 2 3 = .ok path ∧
        path.length ≤ maxTransparencyProofHashes ∧
        verifyConsistencyPath (sha256MerkleHash hashlibSha256) 2 3 oldRoot newRoot path = true := by
  obtain ⟨oldRoot, newRoot, path, hold, hnew, hpath, hverify⟩ :=
    verifyConsistencyPath_generateConsistencyPath (sha256MerkleHash hashlibSha256)
      [hashlibSha256.hexdigest [1], hashlibSha256.hexdigest [2], hashlibSha256.hexdigest [3]]
      (by simp [sha256MerkleHash, hashlibSha256.hexdigest_valid]) (m := 2) (n := 3)
      (by decide) (by decide) (by decide)
  have hvalid : ∀ e ∈ [hashlibSha256.hexdigest [1], hashlibSha256.hexdigest [2],
      hashlibSha256.hexdigest [3]], (sha256MerkleHash hashlibSha256).isValid e = true := by
    simp [sha256MerkleHash, hashlibSha256.hexdigest_valid]
  have hsubproof := generateConsistencyPath_eq (sha256MerkleHash hashlibSha256) (m := 2) (n := 3)
    (fun e he => hvalid e (List.mem_of_mem_take he)) (by decide) (by decide) (by simp)
  have hone : path.length = 1 := by
    rw [hpath] at hsubproof
    rw [Except.ok.inj hsubproof]
    exact congrArg List.length (consistencySubproof_two_three _ _ _ _)
  have hbound : path.length ≤ maxTransparencyProofHashes := hone.trans_le (by decide)
  exact ⟨oldRoot, newRoot, path, hold, hnew, hpath, hbound, hverify hbound⟩

end AgenticLab.TransparencyMerkle
